import Sidebar.Proofs.Navigation.Toggled

/-!
# The end of a subtree

The walk down the last children ends at the last row that a node shows, taken as open. It never
looks at the mark of the node itself, so the same is found for a closed node and for a hidden one.

What is visible of the subtree of a visible node stands in one block of the visible rows, and for an
open node the walk ends at the end of that block.
-/

namespace Sidebar

open Node

namespace Node

/-- What a node shows when it is taken as open: the node, and of the rows below it those that lie
below open nodes only. -/
lemma flattenShown_withMark_true {n : Node} (h : (preorderAll n.children).Nodup) :
    flattenShown [n.withMark true] =
      n.withMark true :: (flatten n.children).filter (OpenAbove n.children ·) := by
  rw [flattenShown_eq_shownAll, flatten_eq_preorderAll, ← shownAll_eq_filter h, shownAll, shownAll,
    List.append_nil, shown_eq]
  rfl

end Node

namespace Forest.WellFormed

variable {treeId : String} {f : Forest} {n r : Node}

/-- Of the visible rows, a node shows itself and those that it is an ancestor of. -/
lemma mem_shown_iff (h : f.WellFormed treeId) (hn : n ∈ f.rows) (hr : r ∈ f.visibleRows) :
    r ∈ n.shown ↔ r = n ∨ f.Ancestor n r := by
  have hrow := mem_rows_of_mem_visibleRows hr
  rw [h.ancestor_iff hrow, and_iff_right hn, shown_eq_filter (h.nodup_preorder hn), List.mem_filter,
    preorder_eq, List.mem_cons, decide_eq_true_iff, and_iff_left]
  -- all that a visible row lies below is open, so also what is in the subtree
  rw [h.visibleRows_eq_filter, List.mem_filter, decide_eq_true_iff, OpenAbove,
    ← rows_eq_preorderAll] at hr
  intro a ha
  rw [preorderAll_singleton] at ha
  exact hr.2 a (Position.mem_rows_of_mem_preorder hn ha)

end Forest.WellFormed

namespace Workbench

variable {treeId : String} {w : Workbench} {n : Node}

/-- In every reachable tree whose levels are within the bound, the walk down from a row with
children, be it open, closed or hidden, ends at the last of the rows that it shows when it is taken
as open. These are, in pre-order, the row itself and what lies below it and below no other closed
row. If the row is visible and open, they are the block of its subtree in the list of visible rows,
and the walk ends where the block does. -/
theorem Reachable.lastVisible_eq_last (h : w.Reachable treeId)
    (hbound : ∀ n ∈ w.store.forest.rows, n.row.level ≤ w.bound) (hn : n ∈ w.store.forest.rows)
    (hchildren : n.children ≠ []) :
    ∃ last, w.navigator.lastVisible n = .ok last ∧
      (flattenShown [n.withMark true]).getLast? = some last ∧
      flattenShown [n.withMark true] =
        n.withMark true :: (flatten n.children).filter (OpenAbove n.children ·) ∧
      (n ∈ w.store.forest.visibleRows → n.isOpen →
        ∃ front block back, w.store.forest.visibleRows = front ++ block ++ back ∧
          (∀ r ∈ w.store.forest.visibleRows, r ∈ block ↔ r = n ∨ w.store.forest.Ancestor n r) ∧
          block.head? = some n ∧ block.getLast? = some last) := by
  have hwell := h.sound.wellFormed
  obtain ⟨last, hlast, hwalk⟩ := Navigator.lastVisible_eq hwell hbound hn hchildren
  have hshown : ∀ m : Node, (m :: shownAll n.children).getLast? = some last := by
    intro m
    rw [List.getLast?_cons, hlast]
    rfl
  refine ⟨last, hwalk, ?_, flattenShown_withMark_true (hwell.nodup_below hn), ?_⟩
  · rw [flattenShown_eq_shownAll, shownAll, shownAll, List.append_nil, shown_eq]
    exact hshown (n.withMark true)
  · intro hvisible hopen
    obtain ⟨p, hfill, hp⟩ := Position.exists_fill_of_mem_visibleRows hvisible
    have hchildren_shown : n.shownChildren = n.children := by
      rw [shownChildren, hopen]
      rfl
    refine ⟨_, n.shown, _, Position.visibleRows_eq_of_fill hfill hp,
      fun r hr => hwell.mem_shown_iff hn hr, ?_, ?_⟩
    · rw [shown_eq]
      rfl
    · rw [shown_eq, hchildren_shown]
      exact hshown n

/-- The closed directory of `fourRows`. -/
def closedDirectory : Node :=
  .node ⟨⟨1, "files_2"⟩, "b", "/a/b", true, 1, some "files_1", false, false⟩ [
    .node ⟨⟨1, "files_3"⟩, "x", "/a/b/x", false, 2, some "files_2", false, true⟩ []]

/-- The block of the open directory ends with its second child. In the closed directory the walk
ends at the file that is hidden. -/
theorem lastVisible_eq_last_fourRows :
    fourRows.Reachable "files" ∧
      (∀ n ∈ fourRows.store.forest.rows, n.row.level ≤ fourRows.bound) ∧
      openDirectory ∈ fourRows.store.forest.visibleRows ∧ openDirectory.isOpen ∧
      (∃ last, fourRows.navigator.lastVisible openDirectory = .ok last ∧ last.path = "/a/c" ∧
        ∃ front block back, fourRows.store.forest.visibleRows = front ++ block ++ back ∧
          block.head? = some openDirectory ∧ block.getLast? = some last) ∧
      closedDirectory ∈ fourRows.store.forest.rows ∧ closedDirectory.isOpen = false ∧
      ∃ last, fourRows.navigator.lastVisible closedDirectory = .ok last ∧
        last.path = "/a/b/x" ∧ last ∉ fourRows.store.forest.visibleRows := by
  have hreach : fourRows.Reachable "files" := ⟨_, _, rfl⟩
  have hbound : ∀ n ∈ fourRows.store.forest.rows, n.row.level ≤ fourRows.bound := by
    decide +kernel
  have hopen_row : openDirectory ∈ fourRows.store.forest.rows := by decide +kernel
  have hopen_visible : openDirectory ∈ fourRows.store.forest.visibleRows := by decide +kernel
  have hclosed_row : closedDirectory ∈ fourRows.store.forest.rows := by decide +kernel
  obtain ⟨last, hwalk, hlast, -, hblock⟩ :=
    Reachable.lastVisible_eq_last hreach hbound hopen_row (by decide +kernel)
  obtain ⟨front, block, back, hrows, -, hhead, hend⟩ := hblock hopen_visible rfl
  obtain ⟨last', hwalk', hlast', -⟩ :=
    Reachable.lastVisible_eq_last hreach hbound hclosed_row (by decide +kernel)
  have hpath : (flattenShown [openDirectory.withMark true]).getLast?.map Node.path =
      some "/a/c" := by
    decide +kernel
  have hpath' : (flattenShown [closedDirectory.withMark true]).getLast?.map Node.path =
      some "/a/b/x" := by
    decide +kernel
  have hhidden : ∀ m ∈ fourRows.store.forest.visibleRows, m.path ≠ "/a/b/x" := by
    decide +kernel
  rw [hlast, Option.map_some, Option.some_inj] at hpath
  rw [hlast', Option.map_some, Option.some_inj] at hpath'
  exact ⟨hreach, hbound, hopen_visible, rfl,
    ⟨last, hwalk, hpath, front, block, back, hrows, hhead, hend⟩, hclosed_row, rfl,
    last', hwalk', hpath', fun hmem => hhidden last' hmem hpath'⟩

end Workbench

end Sidebar
