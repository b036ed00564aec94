import Sidebar.Proofs.Tree.Rows

/-!
# Positions in a forest

A position is a forest with one node left out: the siblings on both sides of the gap, and above them
the row of the parent and the position of that. Filling the gap gives back the trees.

Every row stands at a position, and the position cuts both orders of rows in three: what is in front
of the node, the node with what lies below it, and what is behind. The walks of the navigator move
along positions, so the laws on walks are inductions on them.
-/

namespace Sidebar

open Node

/-- Where a node stands: among the roots, or among the children of a parent that stands somewhere
itself. -/
inductive Position where
  | root (front back : List Node)
  | child (front back : List Node) (parent : Row) (up : Position)

namespace Position

/-- The siblings in front of the gap. -/
def front : Position → List Node
  | .root front _ => front
  | .child front _ _ _ => front

/-- The siblings behind the gap. -/
def back : Position → List Node
  | .root _ back => back
  | .child _ back _ _ => back

/-- The parent of a node that fills the gap. -/
def parent? : Position → Node → Option Node
  | .root _ _, _ => none
  | .child front back parent _, n => some (.node parent (front ++ n :: back))

/-- The roots of the trees whose gap is filled by a node. -/
def fill : Position → Node → List Node
  | .root front back, n => front ++ n :: back
  | .child front back parent up, n => up.fill (.node parent (front ++ n :: back))

def depth : Position → Nat
  | .root _ _ => 0
  | .child _ _ _ up => up.depth + 1

/-- Whether a node at the position is shown: all its ancestors are open. -/
def isShown : Position → Bool
  | .root _ _ => true
  | .child _ _ parent up => parent.isOpen && up.isShown

/-- The rows in front of a node that fills the gap, where `order` lists the rows of siblings. -/
def before (order : List Node → List Node) : Position → Node → List Node
  | .root front _, _ => order front
  | .child front back parent up, n =>
    up.before order (.node parent (front ++ n :: back)) ++
      .node parent (front ++ n :: back) :: order front

/-- The rows behind all that lies below the gap. -/
def behind (order : List Node → List Node) : Position → List Node
  | .root _ back => order back
  | .child _ back _ up => order back ++ up.behind order

/-! ### Cutting the rows -/

lemma preorderAll_fill (p : Position) (n : Node) :
    preorderAll (p.fill n) =
      p.before preorderAll n ++ n.preorder ++ p.behind preorderAll := by
  induction p generalizing n with
  | root front back => simp [fill, before, behind, preorderAll_append, preorderAll]
  | child front back parent up ih =>
    simp [fill, before, behind, ih, preorder, preorderAll_append, preorderAll]

lemma shownAll_fill {p : Position} (hp : p.isShown) (n : Node) :
    shownAll (p.fill n) = p.before shownAll n ++ n.shown ++ p.behind shownAll := by
  induction p generalizing n with
  | root front back => simp [fill, before, behind, shownAll_append, shownAll]
  | child front back parent up ih =>
    obtain ⟨hopen, hup⟩ := (Bool.and_eq_true _ _).mp hp
    simp [fill, before, behind, ih hup, shown, hopen, shownAll_append, shownAll]

lemma head?_preorderAll (ns : List Node) : (preorderAll ns).head? = ns.head? := by
  cases ns <;> simp [preorderAll, preorder_eq]

lemma head?_shownAll (ns : List Node) : (shownAll ns).head? = ns.head? := by
  cases ns <;> simp [shownAll, shown_eq]

/-- The first row behind a subtree is the same in both orders: it is not below a closed node that
the position is not below. -/
lemma head?_behind (p : Position) : (p.behind preorderAll).head? = (p.behind shownAll).head? := by
  induction p with
  | root front back => rw [behind, behind, head?_preorderAll, head?_shownAll]
  | child front back parent up ih =>
    simp only [behind, List.head?_append, head?_preorderAll, head?_shownAll, ih]

/-! ### Every row stands somewhere -/

/-- Around a node of a filled gap, a gap for each node below it. It is not shown unless that of the
node is. -/
lemma exists_fill_of_mem_preorder {m n : Node} (h : n ∈ m.preorder) (p : Position) :
    ∃ q : Position, q.fill n = p.fill m ∧ (q.isShown → p.isShown) := by
  induction m generalizing p with
  | node row children ih =>
    rw [preorder, List.mem_cons, mem_preorderAll] at h
    rcases h with rfl | ⟨c, hc, hn⟩
    · exact ⟨p, rfl, id⟩
    · obtain ⟨front, back, rfl⟩ := List.append_of_mem hc
      obtain ⟨q, hq, hshown⟩ := ih c hc hn (.child front back row p)
      exact ⟨q, hq, fun h => ((Bool.and_eq_true _ _).mp (hshown h)).2⟩

lemma exists_fill_of_mem_shown {m n : Node} (h : n ∈ m.shown) {p : Position} (hp : p.isShown) :
    ∃ q : Position, q.fill n = p.fill m ∧ q.isShown := by
  induction m generalizing p with
  | node row children ih =>
    rw [shown, List.mem_cons] at h
    rcases h with rfl | h
    · exact ⟨p, rfl, hp⟩
    · split at h
      · next hopen =>
        obtain ⟨c, hc, hn⟩ := mem_shownAll.mp h
        obtain ⟨front, back, rfl⟩ := List.append_of_mem hc
        exact ih c hc hn (p := .child front back row p) (by simp [isShown, hopen, hp])
      · exact absurd h List.not_mem_nil

theorem exists_fill_of_mem_rows {f : Forest} {n : Node} (h : n ∈ f.rows) :
    ∃ p : Position, f.roots = p.fill n := by
  rw [Forest.rows_eq_preorderAll, mem_preorderAll] at h
  obtain ⟨m, hm, hn⟩ := h
  obtain ⟨front, back, hroots⟩ := List.append_of_mem hm
  obtain ⟨q, hq, -⟩ := exists_fill_of_mem_preorder hn (.root front back)
  exact ⟨q, by rw [hroots, hq, fill]⟩

theorem exists_fill_of_mem_visibleRows {f : Forest} {n : Node} (h : n ∈ f.visibleRows) :
    ∃ p : Position, f.roots = p.fill n ∧ p.isShown := by
  rw [Forest.visibleRows_eq_shownAll, mem_shownAll] at h
  obtain ⟨m, hm, hn⟩ := h
  obtain ⟨front, back, hroots⟩ := List.append_of_mem hm
  obtain ⟨q, hq, hshown⟩ := exists_fill_of_mem_shown hn (p := .root front back) rfl
  exact ⟨q, by rw [hroots, hq, fill], hshown⟩

section Fill

variable {f : Forest} {p : Position} {n : Node}

lemma rows_eq_of_fill (h : f.roots = p.fill n) :
    f.rows = p.before preorderAll n ++ n.preorder ++ p.behind preorderAll := by
  rw [Forest.rows_eq_preorderAll, h, preorderAll_fill]

lemma visibleRows_eq_of_fill (h : f.roots = p.fill n) (hp : p.isShown) :
    f.visibleRows = p.before shownAll n ++ n.shown ++ p.behind shownAll := by
  rw [Forest.visibleRows_eq_shownAll, h, shownAll_fill hp]

lemma mem_rows_of_fill (h : f.roots = p.fill n) : n ∈ f.rows := by
  simp [rows_eq_of_fill h, preorder_eq]

/-- What lies below a row is among the rows. -/
lemma mem_rows_of_mem_preorder {m : Node} (hn : n ∈ f.rows) (hm : m ∈ n.preorder) :
    m ∈ f.rows := by
  obtain ⟨q, hq⟩ := exists_fill_of_mem_rows hn
  rw [rows_eq_of_fill hq]
  exact List.mem_append_left _ (List.mem_append_right _ hm)

lemma mem_rows_of_mem_children {c : Node} (hn : n ∈ f.rows) (hc : c ∈ n.children) :
    c ∈ f.rows := by
  refine mem_rows_of_mem_preorder hn ?_
  rw [preorder_eq]
  exact List.mem_cons_of_mem n (mem_preorderAll_of_mem hc)

lemma mem_before_of_mem_front {m : Node} (h : m ∈ p.front) : m ∈ p.before preorderAll n := by
  have hm : m ∈ preorderAll p.front := mem_preorderAll_of_mem h
  cases p with
  | root front back => exact hm
  | child front back parent up => exact List.mem_append_right _ (List.mem_cons_of_mem _ hm)

end Fill

end Position

end Sidebar
