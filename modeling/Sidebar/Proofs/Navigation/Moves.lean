import Sidebar.Proofs.Navigation.Walks
import Sidebar.Proofs.Workbench.Run

/-!
# Moves along the visible rows

One move down or up never looks at the list of visible rows, and yet it leads to the next or the
previous one in it. A position cuts the list in front of the node and behind what is shown of it;
the move down finds the first row behind that cut, the move up the last row in front.
-/

namespace Sidebar

open Node

namespace Position

variable {f : Forest} {p : Position} {n : Node}

lemma mem_rows_of_mem_front (hfill : f.roots = p.fill n) {m : Node} (hm : m ∈ p.front) :
    m ∈ f.rows := by
  rw [rows_eq_of_fill hfill, List.append_assoc]
  exact List.mem_append_left _ (mem_before_of_mem_front hm)

/-- The last row in front of a position is the last one shown in the sibling before it, or else the
parent. -/
lemma getLast?_before (p : Position) (n : Node) :
    (p.before shownAll n).getLast? =
      match p.front.getLast? with
      | some previous => previous.shown.getLast?
      | none => p.parent? n := by
  have hlast : ∀ previous front : List Node, (previous ++ shownAll front).getLast? =
      match front.getLast? with
      | some m => m.shown.getLast?
      | none => previous.getLast? := by
    intro previous front
    rcases List.eq_nil_or_concat' front with rfl | ⟨front, m, rfl⟩
    · simp [shownAll]
    · rw [List.getLast?_concat]
      show _ = m.shown.getLast?
      rw [List.getLast?_append, Navigator.getLast?_shownAll, shown_eq m, List.getLast?_cons]
      rfl
  cases p with
  | root front back => exact hlast [] front
  | child front back parent up =>
    have := hlast (up.before shownAll (.node parent (front ++ n :: back)) ++
      [.node parent (front ++ n :: back)]) front
    simpa [before, Position.front, Position.parent?] using this

end Position

namespace Navigator

variable {treeId : String} {f : Forest} {bound : Int} {p : Position} {n : Node}

/-- The move down leads to the first row shown below the node or behind it, also where the node
itself is hidden. -/
theorem below_fill (h : f.WellFormed treeId) (hbound : ∀ n ∈ f.rows, n.row.level ≤ bound)
    (hfill : f.roots = p.fill n) :
    below ⟨f, bound⟩ n = .ok (shownAll n.shownChildren ++ p.behind shownAll).head? := by
  rw [below, isBottom_fill h hbound hfill]
  cases hopen : n.isOpen with
  | true =>
    -- an open node has children, and the first of them is the next row
    obtain ⟨c, rest, hchildren⟩ := List.exists_cons_of_ne_nil
      (h.opened n (Position.mem_rows_of_fill hfill) hopen).2
    have hshown : n.shownChildren = c :: rest := by rw [shownChildren, hopen, hchildren]; rfl
    rw [hshown, shownAll, shown_eq]
    rfl
  | false =>
    have hshown : n.shownChildren = [] := by rw [shownChildren, hopen]; rfl
    rw [hshown, shownAll, List.nil_append, Bool.not_false, Bool.true_and]
    cases hlowest : p.isLowest with
    | true =>
      rw [(Position.isLowest_iff (Position.isShown_of_isLowest hlowest)).mp hlowest]
      rfl
    | false =>
      have hnext := h.next?_fill hfill
      have hclimb := nextVisible_fill h hbound hfill
      show (match f.next? n with
        | some next => Except.ok (some next)
        | none => nextVisible ⟨f, bound⟩ n) = _
      rw [hnext, hclimb, Position.head?_behind]
      cases p with
      | root front back =>
        rw [Position.back, Position.outer, Position.behind, Position.head?_shownAll]
        cases back <;> rfl
      | child front back parent up =>
        rw [Position.back, Position.outer, Position.behind, List.head?_append,
          Position.head?_shownAll]
        cases back <;> rfl

/-- The move up leads to the last row in front of the node. -/
theorem above_fill (h : f.WellFormed treeId) (hbound : ∀ n ∈ f.rows, n.row.level ≤ bound)
    (hfill : f.roots = p.fill n) :
    above ⟨f, bound⟩ n = .ok (p.before shownAll n).getLast? := by
  rw [above, h.previous?_fill hfill, h.parent?_fill hfill, Position.getLast?_before]
  cases hfront : p.front.getLast? with
  | none => rfl
  | some previous =>
    have hrow : previous ∈ f.rows :=
      Position.mem_rows_of_mem_front hfill (List.mem_of_getLast? hfront)
    cases hopen : previous.isOpen with
    | true =>
      have hchildren := (h.opened previous hrow hopen).2
      obtain ⟨m, hm, hlast⟩ := lastVisible_eq h hbound hrow hchildren
      have hshown : previous.shownChildren = previous.children := by
        rw [shownChildren, hopen]; rfl
      have hhas : previous.hasChildren := by simpa [hasChildren] using hchildren
      simp only [hopen, hhas, hlast, shown_eq, hshown, List.getLast?_cons, hm]
      rfl
    | false =>
      have hshown : previous.shownChildren = [] := by rw [shownChildren, hopen]; rfl
      simp only [hopen, shown_eq, hshown, shownAll]
      rfl

/-! ### Moves and the list of rows -/

/-- A visible row stands at a shown position, and its place in the list is the number of rows in
front of it. -/
lemma exists_fill_getElem (h : f.WellFormed treeId) {i : Nat} (hi : i < f.visibleRows.length) :
    ∃ p : Position, f.roots = p.fill f.visibleRows[i] ∧ p.isShown ∧
      i = (p.before shownAll f.visibleRows[i]).length := by
  obtain ⟨p, hfill, hp⟩ := Position.exists_fill_of_mem_visibleRows (List.getElem_mem hi)
  have hrows := Position.visibleRows_eq_of_fill hfill hp
  refine ⟨p, hfill, hp, ?_⟩
  generalize hn : f.visibleRows[i] = n at *
  have hlength : (p.before shownAll n).length < f.visibleRows.length := by
    rw [hrows, shown_eq]; simp
  have hget : f.visibleRows[(p.before shownAll n).length] = n := by
    simp [hrows, shown_eq]
  exact (h.nodup_visibleRows.getElem_inj_iff).mp (hn.trans hget.symm)

theorem below_getElem (h : f.WellFormed treeId) (hbound : ∀ n ∈ f.rows, n.row.level ≤ bound)
    {i : Nat} (hi : i < f.visibleRows.length) :
    below ⟨f, bound⟩ f.visibleRows[i] = .ok f.visibleRows[i + 1]? := by
  obtain ⟨p, hfill, hp, hlength⟩ := exists_fill_getElem h hi
  have hrows := Position.visibleRows_eq_of_fill hfill hp
  rw [below_fill h hbound hfill]
  generalize f.visibleRows[i] = n at *
  rw [hrows, hlength, shown_eq]
  simp [List.getElem?_append_right, List.head?_eq_getElem?]

theorem above_getElem (h : f.WellFormed treeId) (hbound : ∀ n ∈ f.rows, n.row.level ≤ bound)
    {i : Nat} (hi : i < f.visibleRows.length) :
    above ⟨f, bound⟩ f.visibleRows[i] =
      .ok (if i = 0 then none else f.visibleRows[i - 1]?) := by
  obtain ⟨p, hfill, hp, hlength⟩ := exists_fill_getElem h hi
  have hrows := Position.visibleRows_eq_of_fill hfill hp
  rw [above_fill h hbound hfill]
  generalize f.visibleRows[i] = n at *
  rw [hrows, hlength, List.append_assoc]
  split
  · next hzero => rw [List.length_eq_zero_iff.mp hzero, List.getLast?_nil]
  · next hpos =>
    rw [List.getElem?_append_left (by omega), List.getLast?_eq_getElem?]

end Navigator

namespace Workbench

/-- In every reachable tree whose levels are within the bound, the moves down and up lead along the
list of visible rows, and nowhere at its ends. -/
theorem Reachable.below_and_above {treeId : String} {w : Workbench} (h : w.Reachable treeId)
    (hbound : ∀ n ∈ w.store.forest.rows, n.row.level ≤ w.bound) {i : Nat}
    (hi : i < w.store.forest.visibleRows.length) :
    w.navigator.below w.store.forest.visibleRows[i] = .ok w.store.forest.visibleRows[i + 1]? ∧
      w.navigator.above w.store.forest.visibleRows[i] =
        .ok (if i = 0 then none else w.store.forest.visibleRows[i - 1]?) :=
  ⟨Navigator.below_getElem h.sound.wellFormed hbound hi,
    Navigator.above_getElem h.sound.wellFormed hbound hi⟩

/-- An open directory that holds a closed one and a file, with a file behind it. No walk in the tree
may take more moves than it has levels. -/
def fourRows : Workbench :=
  (emptied { bound := 2 } "files").run
    [.load (.arr [
        .obj [("path", .str "/a"), ("type", .str "d"), ("children", .arr [
          .obj [("path", .str "/a/b"), ("type", .str "d"), ("children", .arr [
            .obj [("path", .str "/a/b/x")]])],
          .obj [("path", .str "/a/c")]])],
        .obj [("path", .str "/d")]]),
      .expandAll true,
      .expand ⟨1, "files_2"⟩ (some false)]

theorem below_and_above_fourRows :
    fourRows.Reachable "files" ∧
      (∀ n ∈ fourRows.store.forest.rows, n.row.level ≤ fourRows.bound) ∧
      ∃ hi : 2 < fourRows.store.forest.visibleRows.length,
        fourRows.navigator.below fourRows.store.forest.visibleRows[2] =
            .ok fourRows.store.forest.visibleRows[3]? ∧
          fourRows.navigator.above fourRows.store.forest.visibleRows[2] =
            .ok fourRows.store.forest.visibleRows[1]? := by
  have hreach : fourRows.Reachable "files" := ⟨_, _, rfl⟩
  have hbound : ∀ n ∈ fourRows.store.forest.rows, n.row.level ≤ fourRows.bound := by
    decide +kernel
  have hi : 2 < fourRows.store.forest.visibleRows.length := by decide +kernel
  exact ⟨hreach, hbound, hi, Reachable.below_and_above hreach hbound hi⟩

end Workbench

end Sidebar
