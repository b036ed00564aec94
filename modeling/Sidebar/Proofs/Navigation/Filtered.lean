import Sidebar.Proofs.Navigation.Moves
import Sidebar.Proofs.Tree.Ancestors

/-!
# Visible rows among all rows

The list of visible rows is made by going down from the roots and leaving out what lies below closed
nodes. The same rows are picked from the list of all rows by looking up: a row is visible when all
its ancestors are open.

With everything open nothing is left out, and with everything closed only the roots are visible.
-/

namespace Sidebar

open Node

namespace Node

variable {ns : List Node}

lemma shownAll_eq_self (h : ∀ n ∈ ns, n.isOpen = false) : shownAll ns = ns := by
  induction ns with
  | nil => rfl
  | cons n rest ih =>
    have hclosed : n.shownChildren = [] := by
      rw [shownChildren, h n List.mem_cons_self]
      rfl
    rw [shownAll, shown_eq, hclosed, ih fun m hm => h m (List.mem_cons_of_mem n hm)]
    rfl

lemma openAbove_of_isOpen (h : ∀ n ∈ preorderAll ns, n.children ≠ [] → n.isOpen) (n : Node) :
    OpenAbove ns n := by
  intro a ha hbelow
  refine h a ha fun hnil => ?_
  rw [hnil] at hbelow
  exact absurd hbelow List.not_mem_nil

end Node

namespace Forest.WellFormed

variable {treeId : String} {f : Forest} {n : Node}

/-- After all directories have been opened or closed, the nodes with children are open or closed,
and the others are closed. -/
lemma isOpen_expandAll (h : f.WellFormed treeId) {expand : Bool}
    (hn : n ∈ (f.expandAll expand).rows) : n.isOpen ↔ expand ∧ n.children ≠ [] := by
  rw [expandAll, rows_map, List.mem_map] at hn
  obtain ⟨m, hm, rfl⟩ := hn
  have hexpandable := h.isExpandable_iff hm
  rw [isOpen, row_map, children_map, mapAll_eq_map, Ne, List.map_eq_nil_iff, ← ne_eq,
    ← hexpandable]
  split
  · next hm' => simp [hm']
  · next hm' =>
    -- what cannot be opened was closed before
    have hclosed : ¬ m.isOpen := fun hopen => hm' (hexpandable.mpr (h.opened m hm hopen).2)
    exact iff_of_false hclosed fun hboth => hm' hboth.2

/-- With all directories open every row is visible. -/
lemma visibleRows_expandAll_true (h : f.WellFormed treeId)
    (h' : (f.expandAll true).WellFormed treeId) :
    (f.expandAll true).visibleRows = (f.expandAll true).rows := by
  rw [h'.visibleRows_eq_filter, List.filter_eq_self]
  intro n _
  refine decide_eq_true (openAbove_of_isOpen (fun m hm hchildren => ?_) n)
  rw [← rows_eq_preorderAll] at hm
  exact (h.isOpen_expandAll hm).mpr ⟨rfl, hchildren⟩

/-- With all directories closed only the roots are visible. -/
lemma visibleRows_expandAll_false (h : f.WellFormed treeId) :
    (f.expandAll false).visibleRows = (f.expandAll false).roots := by
  rw [visibleRows_eq_shownAll]
  refine shownAll_eq_self fun n hn => ?_
  have hrow : n ∈ (f.expandAll false).rows := by
    rw [rows_eq_preorderAll]
    exact mem_preorderAll_of_mem hn
  rw [Bool.eq_false_iff, Ne, h.isOpen_expandAll hrow]
  simp

end Forest.WellFormed

namespace Workbench

variable {treeId : String} {w : Workbench}

open scoped Classical in
/-- In every reachable tree the visible rows are those of all rows whose ancestors are open, in the
same order, and no id is listed twice. When all directories are opened these are all rows, and when
all are closed they are the roots. -/
theorem Reachable.visibleRows_eq_openAbove (h : w.Reachable treeId) :
    w.store.forest.visibleRows =
      w.store.forest.rows.filter (fun n => ∀ a, w.store.forest.Ancestor a n → a.isOpen) ∧
    (w.store.forest.visibleRows.map Node.tid).Nodup ∧
    (∀ expand, (w.store.expandAll expand).forest.closedRows = w.store.forest.closedRows) ∧
    (w.store.expandAll true).forest.visibleRows = (w.store.expandAll true).forest.rows ∧
    (w.store.expandAll false).forest.visibleRows = (w.store.expandAll false).forest.roots := by
  have hwell := h.sound.wellFormed
  refine ⟨?_, hwell.nodup_visibleTids, ?_, ?_, hwell.visibleRows_expandAll_false⟩
  · rw [hwell.visibleRows_eq_filter]
    refine List.filter_congr fun n hn => ?_
    rw [decide_eq_decide]
    exact hwell.openAbove_iff hn
  · exact fun expand => Forest.closedRows_expandAll expand w.store.forest
  · exact hwell.visibleRows_expandAll_true (h.sound.expandAll true).wellFormed

open scoped Classical in
/-- The file below the closed directory is the one row that is not visible. -/
theorem visibleRows_eq_openAbove_fourRows :
    fourRows.Reachable "files" ∧
      fourRows.store.forest.rows.map Node.path = ["/a", "/a/b", "/a/b/x", "/a/c", "/d"] ∧
      fourRows.store.forest.visibleRows.map Node.path = ["/a", "/a/b", "/a/c", "/d"] ∧
      fourRows.store.forest.visibleRows = fourRows.store.forest.rows.filter
        (fun n => ∀ a, fourRows.store.forest.Ancestor a n → a.isOpen) ∧
      ((fourRows.store.expandAll true).forest.visibleRows.map Node.path) =
        ["/a", "/a/b", "/a/b/x", "/a/c", "/d"] ∧
      (fourRows.store.expandAll true).forest.visibleRows =
        (fourRows.store.expandAll true).forest.rows := by
  have hreach : fourRows.Reachable "files" := ⟨_, _, rfl⟩
  obtain ⟨hfilter, -, -, hall, -⟩ := Reachable.visibleRows_eq_openAbove hreach
  refine ⟨hreach, by decide +kernel, by decide +kernel, hfilter, ?_, hall⟩
  rw [hall]
  decide +kernel

end Workbench

end Sidebar
