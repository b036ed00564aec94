import Sidebar.Proofs.Store.Sound

/-!
# Tables of ids

Beside the rows of a tree stands a table that leads from an id to the node that has it. The table is
filled while the nodes are made, and a node that is entered under the id of another takes its place.
Since no id is given twice, the table lists the rows, and its answers are those of a search through
them. Opening and closing nodes does not change it.
-/

namespace Sidebar

open Node

/-- The nodes of a tree by their ids, in the order in which the ids were entered. -/
abbrev IdTable := List (String × NodeKey)

namespace IdTable

/-- Enters a node under its id, in place of the one that stands there. -/
def enter : IdTable → NodeKey → IdTable
  | [], key => [(key.tid, key)]
  | (tid, old) :: rest, key =>
    if tid = key.tid then (tid, key) :: rest else (tid, old) :: enter rest key

variable {table : IdTable} {keys : List NodeKey}

lemma enter_of_notMem {key : NodeKey} (h : key.tid ∉ table.map Prod.fst) :
    enter table key = table ++ [(key.tid, key)] := by
  induction table with
  | nil => rfl
  | cons row rest ih =>
    rw [List.map_cons, List.mem_cons, not_or] at h
    rw [enter, if_neg (Ne.symm h.1), ih h.2, List.cons_append]

/-- Nodes with new ids are entered one behind the other. -/
theorem foldl_enter (h : (table.map Prod.fst ++ keys.map NodeKey.tid).Nodup) :
    keys.foldl enter table = table ++ keys.map fun key => (key.tid, key) := by
  induction keys generalizing table with
  | nil => simp
  | cons key rest ih =>
    have hkey : key.tid ∉ table.map Prod.fst :=
      fun hmem => (List.nodup_append.mp h).2.2 _ hmem _ List.mem_cons_self rfl
    have hrest : ((table ++ [(key.tid, key)]).map Prod.fst ++ rest.map NodeKey.tid).Nodup := by
      simpa using h
    rw [List.foldl_cons, enter_of_notMem hkey, ih hrest, List.append_assoc]
    rfl

end IdTable

namespace Forest

/-- The table that lists the rows. -/
def idTable (f : Forest) : IdTable := f.rows.map fun n => (n.tid, n.key)

/-- The table finds what a search through the rows finds. -/
theorem lookup_idTable (f : Forest) (tid : String) :
    f.idTable.lookup tid = (f.find? tid).map Node.key := by
  rw [idTable, find?]
  induction f.rows with
  | nil => rfl
  | cons n rest ih =>
    rw [List.map_cons, List.lookup_cons, List.find?_cons]
    by_cases htid : n.tid = tid
    · simp [htid]
    · have hne : (tid == n.tid) = false := by simpa using Ne.symm htid
      simp [htid, hne, ih]

/-- The table tells the nodes of this build from all others. -/
theorem contains_eq_lookup (f : Forest) (n : Node) :
    f.contains n = (f.idTable.lookup n.tid).any fun key => key = n.key := by
  rw [contains, lookup_idTable]
  cases f.find? n.tid <;> rfl

theorem length_idTable (f : Forest) : f.idTable.length = f.size := by
  rw [idTable, List.length_map, length_rows]

/-- A change of rows that keeps the nodes what they are leaves the table as it is. -/
theorem idTable_map {g : Node → Row} (f : Forest) (hg : ∀ n, (g n).key = n.key) :
    (f.map g).idTable = f.idTable := by
  rw [idTable, idTable, rows_map, List.map_map]
  refine List.map_congr_left fun n _ => ?_
  have hkey : (Node.map g n).key = n.key := by
    cases n
    rw [Node.map]
    exact hg _
  show ((Node.map g n).key.tid, (Node.map g n).key) = (n.key.tid, n.key)
  rw [hkey]

/-- Each id stands in the table once. -/
theorem WellFormed.nodup_idTable {treeId : String} {f : Forest} (h : f.WellFormed treeId) :
    (f.idTable.map Prod.fst).Nodup := by
  have hmap : f.idTable.map Prod.fst = f.rows.map tid := by
    simp [idTable]
  exact hmap ▸ h.nodup_tids

end Forest

namespace Store

variable (s : Store)

theorem idTable_expand (n : Node) (expand : Option Bool) :
    (s.expand n expand).forest.idTable = s.forest.idTable := by
  rw [Store.expand]
  split
  · refine Forest.idTable_map s.forest fun m => ?_
    split <;> rfl
  · rfl

theorem idTable_expandAll (expand : Bool) :
    (s.expandAll expand).forest.idTable = s.forest.idTable := by
  refine Forest.idTable_map s.forest fun m => ?_
  split <;> rfl

end Store

end Sidebar
