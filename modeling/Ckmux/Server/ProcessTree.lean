import Mathlib
import Ckmux.Data.Worklist

/-!
# The processes under a terminal

The table of processes is read while they come and go: it need not be a tree. A number used again
may print a loop into it, or stand in it twice, and a parent may be missing.
-/

namespace Ckmux

open Data (Worklist)

/-- A process of the host, by number. -/
abbrev ProcessId := Int64

/-- A process, and the process that it is a child of. -/
structure ProcessEntry where
  pid : ProcessId := -1
  ppid : ProcessId := -1

/-- The processes read at one moment, in the order they were read in. -/
structure ProcessTable where
  entries : List ProcessEntry

namespace ProcessTable

variable (table : ProcessTable)

/-- The processes of the table. -/
def pids : List ProcessId := table.entries.map ProcessEntry.pid

/-- The children of a process, in the order of the table. -/
def children (pid : ProcessId) : List ProcessId :=
  (table.entries.filter fun entry => entry.ppid = pid).map ProcessEntry.pid

/-- The processes under one, the one first; none if it is not in the table. -/
def treeOf (fuel : Nat) (root : ProcessId) : Option (List ProcessId) :=
  if root ∈ table.pids then
    Worklist.run table.children fuel { visited := [root], frontier := [root], result := [] }
  else some []

/-- One process is another's parent. -/
def IsParent (parent child : ProcessId) : Prop :=
  ∃ entry ∈ table.entries, entry.ppid = parent ∧ entry.pid = child

variable {table}

/-- A process's children are those that name it as their parent. -/
theorem mem_children {parent child : ProcessId} :
    child ∈ table.children parent ↔ table.IsParent parent child := by
  simp [children, IsParent, and_assoc]

/-- A child stands in the table. -/
theorem mem_pids_of_isParent {parent child : ProcessId} (edge : table.IsParent parent child) :
    child ∈ table.pids := by
  obtain ⟨entry, listed, _, rfl⟩ := edge
  exact List.mem_map_of_mem listed

/-- An edge of the search is a line of the table. -/
theorem edge_children : Worklist.Edge table.children = table.IsParent := by
  funext parent child
  exact propext mem_children

/-- The walk ends, and finds every process that can be reached from the root along parents, once;
it finds none exactly where the root is not in the table. -/
theorem treeOf_exact (table : ProcessTable) (root : ProcessId) :
    ∃ tree, (∀ extra, table.treeOf (table.entries.length + extra) root = some tree) ∧ tree.Nodup ∧
      (root ∈ table.pids →
        ∀ pid, pid ∈ tree ↔ Relation.ReflTransGen table.IsParent root pid) ∧
      (tree = [] ↔ root ∉ table.pids) := by
  simp only [treeOf]
  split
  · rename_i present
    have closed : ∀ pid, ∀ child ∈ table.children pid, child ∈ table.pids :=
      fun _ _ child => mem_pids_of_isParent (mem_children.mp child)
    have enough : table.pids.length ≤ ([] : List ProcessId).length + table.entries.length := by
      simp [pids]
    obtain ⟨tree, ends, distinct, found⟩ := Worklist.run_reaches present closed
      (Worklist.Explores.start table.children root) enough
    rw [edge_children] at found
    refine ⟨tree, Worklist.run_more ends, distinct, fun _ => found, ?_⟩
    refine iff_of_false (fun empty => ?_) fun absent => absent present
    exact List.not_mem_nil (empty ▸ (found root).mpr .refl)
  · rename_i absent
    exact ⟨[], fun _ => rfl, .nil, fun present => absurd present absent, iff_of_true rfl absent⟩

/-- Two processes that are each other's parents, one of them read twice. -/
example : (ProcessTable.mk [⟨1, 2⟩, ⟨2, 1⟩, ⟨2, 1⟩, ⟨3, 9⟩]).treeOf 4 1 = some [1, 2] := by decide

end ProcessTable

end Ckmux
