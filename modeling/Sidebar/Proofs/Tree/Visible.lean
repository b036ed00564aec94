import Sidebar.Proofs.Tree.Neighbours

/-!
# Visible rows

A row is visible when all its ancestors are open, and that is to be read off its position: in a
well-formed forest a node fills one position only. So siblings are visible together, and nothing
below a hidden row is visible.
-/

namespace Sidebar

open Node

/-- The first root is visible. -/
lemma Forest.mem_visibleRows_of_head?_roots {f : Forest} {n : Node} (h : f.roots.head? = some n) :
    n ∈ f.visibleRows := by
  rw [visibleRows_eq_shownAll]
  exact List.mem_of_head? ((Position.head?_shownAll f.roots).trans h)

namespace Forest.WellFormed

variable {treeId : String} {f : Forest} {p q : Position} {n : Node}

/-- Whether a node is shown does not depend on how its position is found. -/
lemma isShown_eq (h : f.WellFormed treeId) (hp : f.roots = p.fill n) (hq : f.roots = q.fill n) :
    p.isShown = q.isShown := by
  induction p generalizing q n with
  | root front back =>
    have hparent := (h.parent?_fill hp).symm.trans (h.parent?_fill hq)
    cases q with
    | root front' back' => rfl
    | child front' back' parent' up' => cases hparent
  | child front back parent up ih =>
    have hparent := (h.parent?_fill hp).symm.trans (h.parent?_fill hq)
    cases q with
    | root front' back' => cases hparent
    | child front' back' parent' up' =>
      have hsame := Option.some.inj hparent
      obtain rfl : parent = parent' := congrArg Node.row hsame
      have hup' : f.roots = up'.fill (.node parent (front' ++ n :: back')) := hq
      rw [← hsame] at hup'
      rw [Position.isShown, Position.isShown, ih hp hup']

/-- A row is visible exactly when its position is shown. -/
theorem mem_visibleRows_iff (h : f.WellFormed treeId) (hfill : f.roots = p.fill n) :
    n ∈ f.visibleRows ↔ p.isShown := by
  constructor
  · intro hn
    obtain ⟨q, hq, hshown⟩ := Position.exists_fill_of_mem_visibleRows hn
    rwa [h.isShown_eq hfill hq]
  · intro hshown
    rw [Position.visibleRows_eq_of_fill hfill hshown, shown_eq]
    simp

lemma mem_rows_of_mem_visibleRows (hn : n ∈ f.visibleRows) : n ∈ f.rows := by
  obtain ⟨p, hfill, -⟩ := Position.exists_fill_of_mem_visibleRows hn
  exact Position.mem_rows_of_fill hfill

/-- What lies below a hidden row is hidden. -/
lemma mem_visibleRows_of_mem_preorder (h : f.WellFormed treeId) {m : Node} (hn : n ∈ f.rows)
    (hm : m ∈ n.preorder) (hvisible : m ∈ f.visibleRows) : n ∈ f.visibleRows := by
  obtain ⟨p, hfill⟩ := Position.exists_fill_of_mem_rows hn
  obtain ⟨q, hq, hshown⟩ := Position.exists_fill_of_mem_preorder hm p
  rw [h.mem_visibleRows_iff (hfill.trans hq.symm)] at hvisible
  exact (h.mem_visibleRows_iff hfill).mpr (hshown hvisible)

/-- Siblings are visible together. -/
lemma mem_visibleRows_sibling (h : f.WellFormed treeId) (hfill : f.roots = p.fill n) {m : Node}
    (hm : m ∈ p.front ++ n :: p.back) : m ∈ f.visibleRows ↔ p.isShown := by
  obtain ⟨front, back, hcut⟩ := List.append_of_mem hm
  cases p with
  | root front' back' =>
    have hfill' : f.roots = (Position.root front back).fill m := hfill.trans hcut
    exact (h.mem_visibleRows_iff hfill' :)
  | child front' back' parent up =>
    have hfill' : f.roots = (Position.child front back parent up).fill m := by
      rw [hfill, Position.fill, Position.fill]
      exact congrArg (fun ns => up.fill (.node parent ns)) hcut
    exact (h.mem_visibleRows_iff hfill' :)

end Forest.WellFormed

end Sidebar
