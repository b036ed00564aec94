import Sidebar.Proofs.Navigation.Moves
import Sidebar.Proofs.Tree.Marks
import Sidebar.Proofs.Tree.Visible

/-!
# The row behind a subtree

The climb to the nearest ancestor with a following sibling ends at a place in the list of all rows:
right behind the subtree of the parent, or behind the subtree of the node itself where it is a root.
The climb looks at no open mark, so the answer is the same whatever is open, and it leads from
visible rows to visible ones.
-/

namespace Sidebar

open Node

/-! ### Subtrees in the list of rows -/

namespace Forest

/-- The rows behind the subtree of a node, which takes as many rows as it has nodes. -/
def rowsBehind (f : Forest) (n : Node) : List Node := f.rows.drop (f.rows.idxOf n + n.size)

variable {treeId : String} {f : Forest} {p : Position} {n : Node}

/-- The rows of a subtree stand together, and the position shows what is behind them. -/
theorem WellFormed.rowsBehind_fill (h : f.WellFormed treeId) (hfill : f.roots = p.fill n) :
    f.rowsBehind n = p.behind preorderAll := by
  have hrows := Position.rows_eq_of_fill hfill
  have hnodup := h.nodup_rows
  rw [hrows, preorder_eq, List.append_assoc, List.cons_append] at hnodup
  have hfresh : n ∉ p.before preorderAll n := fun hn =>
    (List.disjoint_of_nodup_append hnodup) hn List.mem_cons_self
  have hindex : f.rows.idxOf n = (p.before preorderAll n).length := by
    rw [hrows, List.append_assoc, List.idxOf_append_of_notMem hfresh, preorder_eq,
      List.cons_append, List.idxOf_cons_self, Nat.add_zero]
  rw [rowsBehind, hindex, ← length_preorder, ← List.length_append, hrows, List.drop_left]

lemma WellFormed.exists_rows_eq (h : f.WellFormed treeId) (hn : n ∈ f.rows) :
    ∃ front, f.rows = front ++ n.preorder ++ f.rowsBehind n := by
  obtain ⟨p, hfill⟩ := Position.exists_fill_of_mem_rows hn
  exact ⟨_, h.rowsBehind_fill hfill ▸ Position.rows_eq_of_fill hfill⟩

end Forest

/-! ### The climb and the marks -/

namespace Navigator

/-- The climb takes the same way whatever is open. -/
theorem climb_remark (opened : Node → Bool) (f : Forest) (overrun : NavigationError) (moves : Nat)
    (n : Node) : climb (f.remark opened) overrun moves (n.remark opened) =
      (climb f overrun moves n).map (Option.map (Node.remark opened)) := by
  induction moves generalizing n with
  | zero =>
    rw [climb, climb, Forest.parent?_remark]
    cases f.parent? n with
    | none => simp [Except.map]
    | some parent =>
      simp only [Option.map_some, Forest.next?_remark]
      cases f.next? parent <;> rfl
  | succ moves ih =>
    rw [climb, climb, Forest.parent?_remark]
    cases f.parent? n with
    | none => simp [Except.map]
    | some parent =>
      simp only [Option.map_some, Forest.next?_remark]
      cases f.next? parent with
      | some next => rfl
      | none =>
        simp only [Option.map_none, level_remark, ih parent]
        split <;> rfl

theorem nextVisible_remark (opened : Node → Bool) (f : Forest) (bound : Int) (n : Node) :
    nextVisible ⟨f.remark opened, bound⟩ (n.remark opened) =
      (nextVisible ⟨f, bound⟩ n).map (Option.map (Node.remark opened)) := by
  rw [nextVisible, nextVisible, requireMember, requireMember, Forest.contains_remark]
  cases f.contains n with
  | false => simp [bind, Except.bind, Except.map]
  | true =>
    rw [level_remark, Forest.next?_remark, overrun, overrun, climb_remark, tid_remark, path_remark]
    by_cases hlevel : n.row.level = 0
    · simp [hlevel, bind, Except.bind, pure, Except.pure, Except.map]
    · simp [hlevel, bind, Except.bind]

end Navigator

/-! ### Visible rows -/

namespace Position

/-- What is behind the subtree of the parent is behind the node as well. -/
lemma behind_outer_suffix (order : List Node → List Node) (p : Position) :
    p.outer.behind order <:+ p.behind order := by
  cases p with
  | root front back => exact List.suffix_refl _
  | child front back parent up => exact List.suffix_append _ _

end Position

namespace Navigator

variable {treeId : String} {f : Forest} {bound : Int} {n next : Node}

/-- From a visible row the climb leads to a visible one. -/
theorem mem_visibleRows_of_nextVisible (h : f.WellFormed treeId)
    (hbound : ∀ n ∈ f.rows, n.row.level ≤ bound) (hn : n ∈ f.visibleRows)
    (hnext : nextVisible ⟨f, bound⟩ n = .ok (some next)) : next ∈ f.visibleRows := by
  obtain ⟨p, hfill, hp⟩ := Position.exists_fill_of_mem_visibleRows hn
  rw [nextVisible_fill h hbound hfill, Position.head?_behind] at hnext
  have hbehind := (p.behind_outer_suffix shownAll).mem (List.mem_of_head? (Except.ok.inj hnext))
  rw [Position.visibleRows_eq_of_fill hfill hp]
  exact List.mem_append_right _ hbehind

end Navigator

namespace Workbench

variable {treeId : String} {w : Workbench}

/-- In every reachable tree whose levels are within the bound, the climb from a row ends at the
first row behind a subtree of the list of all rows: that of the row itself where it is a root, and
that of its parent otherwise. It ends there whatever is open, and a visible row is led to a visible
one. -/
theorem Reachable.nextVisible_eq_behind (h : w.Reachable treeId)
    (hbound : ∀ n ∈ w.store.forest.rows, n.row.level ≤ w.bound) {n : Node}
    (hn : n ∈ w.store.forest.rows) :
    ∃ top, (if n.row.level = 0 then top = n else w.store.forest.parent? n = some top) ∧
      (∃ front, w.store.forest.rows = front ++ top.preorder ++ w.store.forest.rowsBehind top) ∧
      w.navigator.nextVisible n = .ok (w.store.forest.rowsBehind top).head? ∧
      (∀ opened : Node → Bool,
        Navigator.nextVisible ⟨w.store.forest.remark opened, w.bound⟩ (n.remark opened) =
          .ok ((w.store.forest.rowsBehind top).head?.map (Node.remark opened))) ∧
      (n ∈ w.store.forest.visibleRows →
        ∀ next ∈ (w.store.forest.rowsBehind top).head?, next ∈ w.store.forest.visibleRows) := by
  have hwell := h.sound.wellFormed
  obtain ⟨p, hfill⟩ := Position.exists_fill_of_mem_rows hn
  obtain ⟨top, htop, hrow, hbehind⟩ : ∃ top,
      (if n.row.level = 0 then top = n else w.store.forest.parent? n = some top) ∧
        top ∈ w.store.forest.rows ∧
        w.store.forest.rowsBehind top = p.outer.behind preorderAll := by
    have hlevel := hwell.level_fill hfill
    cases p with
    | root front back =>
      exact ⟨n, by simp [hlevel, Position.depth], hn, hwell.rowsBehind_fill hfill⟩
    | child front back parent up =>
      have hup : w.store.forest.roots = up.fill (.node parent (front ++ n :: back)) := hfill
      have hdeep : n.row.level ≠ 0 := by
        rw [hlevel, Position.depth]
        omega
      refine ⟨_, ?_, Position.mem_rows_of_fill hup, hwell.rowsBehind_fill hup⟩
      rw [if_neg hdeep]
      exact hwell.parent?_fill hfill
  have hnext : w.navigator.nextVisible n = .ok (w.store.forest.rowsBehind top).head? := by
    rw [hbehind]
    exact Navigator.nextVisible_fill hwell hbound hfill
  refine ⟨top, htop, hwell.exists_rows_eq hrow, hnext, ?_, ?_⟩
  · intro opened
    rw [Navigator.nextVisible_remark]
    exact congrArg (Except.map _) hnext
  · intro hvisible next hmem
    rw [Option.mem_def] at hmem
    rw [hmem] at hnext
    exact Navigator.mem_visibleRows_of_nextVisible hwell hbound hvisible hnext

/-- From the file at the end of the first directory the climb leads behind the directory, to the
last root. -/
theorem nextVisible_fourRows :
    fourRows.Reachable "files" ∧
      (∀ n ∈ fourRows.store.forest.rows, n.row.level ≤ fourRows.bound) ∧
      ∃ n ∈ fourRows.store.forest.rows, n.path = "/a/c" ∧ ∃ top,
        (if n.row.level = 0 then top = n else fourRows.store.forest.parent? n = some top) ∧
        fourRows.navigator.nextVisible n = .ok (fourRows.store.forest.rowsBehind top).head? ∧
        ∀ next ∈ (fourRows.store.forest.rowsBehind top).head?,
          next ∈ fourRows.store.forest.visibleRows := by
  have hreach : fourRows.Reachable "files" := ⟨_, _, rfl⟩
  have hbound : ∀ n ∈ fourRows.store.forest.rows, n.row.level ≤ fourRows.bound := by
    decide +kernel
  have hfile : ∃ n ∈ fourRows.store.forest.rows, n.path = "/a/c" ∧
      n ∈ fourRows.store.forest.visibleRows := by
    decide +kernel
  obtain ⟨n, hn, hpath, hvisible⟩ := hfile
  obtain ⟨top, htop, -, hnext, -, hshown⟩ := Reachable.nextVisible_eq_behind hreach hbound hn
  exact ⟨hreach, hbound, n, hn, hpath, top, htop, hnext, hshown hvisible⟩

end Workbench

end Sidebar
