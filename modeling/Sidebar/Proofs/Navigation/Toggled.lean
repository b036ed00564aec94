import Sidebar.Proofs.Navigation.Moves
import Sidebar.Proofs.Store.Marked
import Sidebar.Proofs.Tree.Ancestors

/-!
# Rows shown by one mark

Opening a visible node puts one block of rows behind it, and closing it takes the block away. The
block is what the children show: the marks below the node stay as they are, so what was open there
is shown again. The mark of a hidden node changes nothing in the list of visible rows.
-/

namespace Sidebar

open Node

/-- In a list without repetitions a block has no item from in front of it or behind it. -/
lemma notMem_block_of_nodup {α : Type} {front block back : List α} {a b : α}
    (h : (front ++ a :: (block ++ back)).Nodup) (hb : b ∈ front ++ a :: back) : b ∉ block := by
  intro hblock
  obtain ⟨ha, hrest⟩ := List.nodup_cons.mp (List.nodup_append.mp h).2.1
  rw [List.mem_append, List.mem_cons] at hb
  rcases hb with hb | rfl | hb
  · exact List.disjoint_of_nodup_append h hb (by simp [hblock])
  · exact ha (List.mem_append_left back hblock)
  · exact List.disjoint_of_nodup_append hrest hblock hb

namespace Position

/-- The rows in front of a gap do not depend on the node that fills it. -/
lemma rows_before (p : Position) (order : List Node → List Node) (n m : Node) :
    (p.before order n).map Node.row = (p.before order m).map Node.row := by
  induction p generalizing n m with
  | root front back => rfl
  | child front back parent up ih =>
    rw [before, before, List.map_append, List.map_append, List.map_cons, List.map_cons,
      ih (.node parent (front ++ n :: back)) (.node parent (front ++ m :: back))]
    rfl

/-- Below a closed node the shown rows do not depend on the node that fills the gap. -/
lemma rows_shownAll_fill {p : Position} (hp : p.isShown = false) (n m : Node) :
    (shownAll (p.fill n)).map Node.row = (shownAll (p.fill m)).map Node.row := by
  induction p generalizing n m with
  | root front back => cases hp
  | child front back parent up ih =>
    rw [fill, fill]
    cases hup : up.isShown with
    | false => exact ih hup _ _
    | true =>
      have hclosed : parent.isOpen = false := by simpa [isShown, hup] using hp
      rw [shownAll_fill hup, shownAll_fill hup, shown, shown, hclosed]
      simp only [List.map_append, List.map_cons,
        up.rows_before shownAll (.node parent (front ++ n :: back))
          (.node parent (front ++ m :: back))]
      rfl

end Position

namespace Forest.WellFormed

variable {treeId : String} {f : Forest} {n : Node}

/-- The mark of a hidden node is not to be seen in the visible rows. -/
lemma visibleRows_withMark_of_hidden (h : f.WellFormed treeId) (hn : n ∈ f.rows)
    (hhidden : n ∉ f.visibleRows) (isOpen again : Bool) :
    (f.withMark n.key isOpen).visibleRows.map Node.row =
      (f.withMark n.key again).visibleRows.map Node.row := by
  obtain ⟨p, hfill⟩ := Position.exists_fill_of_mem_rows hn
  rw [h.mem_visibleRows_iff hfill, Bool.not_eq_true] at hhidden
  rw [visibleRows_eq_shownAll, visibleRows_eq_shownAll, h.roots_withMark hfill,
    h.roots_withMark hfill]
  exact Position.rows_shownAll_fill hhidden _ _

/-- The mark of a visible node shows or hides the rows of its children, and no others. -/
lemma exists_visibleRows_withMark (h : f.WellFormed treeId) (hvisible : n ∈ f.visibleRows) :
    ∃ front back,
      (f.withMark n.key false).visibleRows.map Node.row =
        front ++ (n.withMark false).row :: back ∧
      (f.withMark n.key true).visibleRows.map Node.row =
        front ++ (n.withMark true).row :: ((shownAll n.children).map Node.row ++ back) := by
  obtain ⟨p, hfill, hp⟩ := Position.exists_fill_of_mem_visibleRows hvisible
  refine ⟨(p.before shownAll n).map Node.row, (p.behind shownAll).map Node.row, ?_, ?_⟩ <;>
  · rw [Position.visibleRows_eq_of_fill (h.roots_withMark hfill _) hp, List.map_append,
      List.map_append, p.rows_before shownAll _ n, shown_eq, shownChildren, List.append_assoc]
    rfl

/-- The rows that the mark shows are listed in no other place. -/
lemma key_ne_of_mem_shownAll_children (h : f.WellFormed treeId) (hvisible : n ∈ f.visibleRows)
    (h' : (f.withMark n.key true).WellFormed treeId) {m r : Node} (hm : m ∈ shownAll n.children)
    (hr : r ∈ (f.withMark n.key false).visibleRows) : r.key ≠ m.key := by
  obtain ⟨front, back, hclosed, hopen⟩ := h.exists_visibleRows_withMark hvisible
  have hnodup : (((f.withMark n.key true).visibleRows.map Node.row).map fun row =>
      row.key.tid).Nodup := by
    rw [List.map_map]
    exact h'.nodup_visibleTids
  have hr_tid : r.tid ∈ ((f.withMark n.key false).visibleRows.map Node.row).map fun row =>
      row.key.tid := List.mem_map_of_mem (List.mem_map_of_mem hr)
  rw [hopen, List.map_append, List.map_cons, List.map_append] at hnodup
  rw [hclosed, List.map_append, List.map_cons] at hr_tid
  intro hkey
  have htid : r.tid = m.tid := congrArg NodeKey.tid hkey
  exact notMem_block_of_nodup hnodup hr_tid (htid ▸ List.mem_map_of_mem (List.mem_map_of_mem hm))

end Forest.WellFormed

namespace Workbench

variable {treeId : String} {w : Workbench} {n : Node}

/-- Toggling a node twice leaves the workbench as it was. -/
lemma run_toggle_toggle (h : w.store.Sound treeId) (hn : n ∈ w.store.forest.rows)
    (hexpandable : n.isExpandable) : w.run [.expand n.key none, .expand n.key none] = w := by
  have hfind : w.store.node? n.key = some n :=
    h.node?_eq_some_iff.mpr ⟨Store.holds_of_mem_rows hn, rfl⟩
  have hmember := h.wellFormed.withMark_mem_rows hn (!n.isOpen)
  have hfind' : (w.store.expand n none).node? n.key = some (n.withMark (!n.isOpen)) := by
    refine (h.expand (Store.holds_of_mem_rows hn) none).node?_eq_some_iff.mpr ⟨?_, rfl⟩
    apply Store.holds_of_mem_rows
    rwa [h.expand_eq hn hexpandable]
  have hfirst : w.act (.expand n.key none) = { w with store := w.store.expand n none } := by
    rw [act, onNode, hfind]
  rw [run, List.foldl_cons, List.foldl_cons, List.foldl_nil, hfirst, act, onNode]
  simp only [hfind', h.toggle_toggle hn hexpandable]

/-- In every reachable tree the mark of a node with children is to be seen in one place only. That
of a hidden node changes nothing in the list of visible rows. That of a visible node puts one block
behind it: the rows below it in pre-order, without those below a node that is closed. The other rows
stay as they are, and none of them is in the block. So opening, closing or toggling the node does no
more than to add or take away the block, and toggling it twice brings everything back. -/
theorem Reachable.visibleRows_withMark (h : w.Reachable treeId) (hn : n ∈ w.store.forest.rows)
    (hchildren : n.children ≠ []) :
    (∀ isOpen, (w.store.forest.withMark n.key isOpen).rows.map Node.row =
      w.store.forest.rows.map fun m => if m = n then { m.row with isOpen := isOpen } else m.row) ∧
    (n ∉ w.store.forest.visibleRows →
      (w.store.forest.withMark n.key false).visibleRows.map Node.row =
        (w.store.forest.withMark n.key true).visibleRows.map Node.row) ∧
    (n ∈ w.store.forest.visibleRows → ∃ front back,
      (w.store.forest.withMark n.key false).visibleRows.map Node.row =
        front ++ [{ n.row with isOpen := false }] ++ back ∧
      (w.store.forest.withMark n.key true).visibleRows.map Node.row =
        front ++ [{ n.row with isOpen := true }] ++
          ((flatten n.children).filter (OpenAbove n.children ·)).map Node.row ++ back ∧
      ∀ m ∈ (flatten n.children).filter (OpenAbove n.children ·),
        ∀ r ∈ (w.store.forest.withMark n.key false).visibleRows, r.key ≠ m.key) ∧
    w.store.forest.withMark n.key n.isOpen = w.store.forest ∧
    (∀ expand, w.store.expand n expand =
      { w.store with forest := w.store.forest.withMark n.key (expand.getD (!n.isOpen)) }) ∧
    w.run [.expand n.key none, .expand n.key none] = w := by
  have hwell := h.sound.wellFormed
  have hexpandable : n.isExpandable := (hwell.isExpandable_iff hn).mpr hchildren
  have hexpand := h.sound.expand_eq hn hexpandable
  refine ⟨fun isOpen => hwell.rows_withMark hn isOpen,
    fun hhidden => hwell.visibleRows_withMark_of_hidden hn hhidden false true, fun hvisible => ?_,
    hwell.withMark_isOpen hn, hexpand, run_toggle_toggle h.sound hn hexpandable⟩
  have hblock : (flatten n.children).filter (OpenAbove n.children ·) = shownAll n.children := by
    rw [flatten_eq_preorderAll]
    exact (shownAll_eq_filter (hwell.nodup_below hn)).symm
  obtain ⟨front, back, hclosed, hopen⟩ := hwell.exists_visibleRows_withMark hvisible
  rw [hblock]
  refine ⟨front, back, by simpa using hclosed, by simpa using hopen, fun m hm r hr => ?_⟩
  have hopened := (h.sound.expand (Store.holds_of_mem_rows hn) (some true)).wellFormed
  rw [hexpand] at hopened
  exact hwell.key_ne_of_mem_shownAll_children hvisible hopened hm hr

/-- The directory of `fourRows` that is open. -/
def openDirectory : Node :=
  .node ⟨⟨1, "files_1"⟩, "a", "/a", true, 0, none, true, false⟩ [
    .node ⟨⟨1, "files_2"⟩, "b", "/a/b", true, 1, some "files_1", false, false⟩ [
      .node ⟨⟨1, "files_3"⟩, "x", "/a/b/x", false, 2, some "files_2", false, true⟩ []],
    .node ⟨⟨1, "files_4"⟩, "c", "/a/c", false, 1, some "files_1", false, true⟩ []]

/-- The block of the open directory has its two children, and not the file in the closed one. -/
theorem visibleRows_withMark_fourRows :
    fourRows.Reachable "files" ∧ openDirectory ∈ fourRows.store.forest.rows ∧
      openDirectory.children ≠ [] ∧ openDirectory ∈ fourRows.store.forest.visibleRows ∧
      ((flatten openDirectory.children).filter (OpenAbove openDirectory.children ·)).map
        Node.path = ["/a/b", "/a/c"] ∧
      (∃ front back,
        (fourRows.store.forest.withMark openDirectory.key false).visibleRows.map Node.row =
          front ++ [{ openDirectory.row with isOpen := false }] ++ back ∧
        (fourRows.store.forest.withMark openDirectory.key true).visibleRows.map Node.row =
          front ++ [{ openDirectory.row with isOpen := true }] ++
            ((flatten openDirectory.children).filter
              (OpenAbove openDirectory.children ·)).map Node.row ++ back) ∧
      fourRows.run [.expand openDirectory.key none, .expand openDirectory.key none] =
        fourRows := by
  have hreach : fourRows.Reachable "files" := ⟨_, _, rfl⟩
  have hrow : openDirectory ∈ fourRows.store.forest.rows := by decide +kernel
  have hchildren : openDirectory.children ≠ [] := by decide +kernel
  have hvisible : openDirectory ∈ fourRows.store.forest.visibleRows := by decide +kernel
  obtain ⟨-, -, hblock, -, -, htwice⟩ := Reachable.visibleRows_withMark hreach hrow hchildren
  obtain ⟨front, back, hclosed, hopen, -⟩ := hblock hvisible
  exact ⟨hreach, hrow, hchildren, hvisible, by decide +kernel, ⟨front, back, hclosed, hopen⟩,
    htwice⟩

end Workbench

end Sidebar
