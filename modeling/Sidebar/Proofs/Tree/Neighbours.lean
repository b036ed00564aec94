import Sidebar.Proofs.Tree.WellFormed

/-!
# Neighbours

In a well-formed forest the lookups of a node find what surrounds its position: the parent above it,
the siblings beside it, and its depth as the level.
-/

namespace Sidebar

open Node

/-! ### Beside a node in a list -/

lemma nodeAfter_append {n : Node} {front back : List Node} (h : ∀ m ∈ front, m.key ≠ n.key) :
    nodeAfter n.key (front ++ n :: back) = back.head? := by
  induction front with
  | nil => cases back <;> simp [nodeAfter]
  | cons m front ih =>
    have hm : m.key ≠ n.key := h m List.mem_cons_self
    have ih := ih fun k hk => h k (List.mem_cons_of_mem m hk)
    cases front <;> simpa [nodeAfter, hm] using ih

lemma nodeBefore_append {n : Node} {front back : List Node} (h : ∀ m ∈ front, m.key ≠ n.key) :
    nodeBefore n.key (front ++ n :: back) = front.getLast? := by
  induction front with
  | nil => cases back <;> simp [nodeBefore]
  | cons m front ih =>
    have hm : m.key ≠ n.key := h m List.mem_cons_self
    have ih := ih fun k hk => h k (List.mem_cons_of_mem m hk)
    cases front with
    | nil => simp [nodeBefore, hm]
    | cons k front =>
      have hk : k.key ≠ n.key := h k (by simp)
      simpa [nodeBefore, hm, hk] using ih

lemma nodeBefore_eq_none {key : NodeKey} {ns : List Node} (h : ∀ m ∈ ns, m.key ≠ key) :
    nodeBefore key ns = none := by
  fun_induction nodeBefore key ns with
  | case1 => rfl
  | case2 previous n rest _ hn => exact absurd hn (h n (by simp))
  | case3 previous n rest _ _ ih => exact ih fun m hm => h m (List.mem_cons_of_mem previous hm)
  | case4 => rfl

/-! ### Lookups lead to rows -/

namespace Forest

variable {f : Forest} {n m : Node}

lemma mem_rows_of_parent? (h : f.parent? n = some m) : m ∈ f.rows := by
  obtain ⟨parentTid, -, hparent⟩ := Option.bind_eq_some_iff.mp h
  exact List.mem_of_find?_eq_some hparent

lemma mem_rows_of_mem_siblings (h : m ∈ f.siblings n) : m ∈ f.rows := by
  rw [siblings] at h
  cases hparent : f.parent? n with
  | some parent =>
    rw [hparent] at h
    exact Position.mem_rows_of_mem_children (mem_rows_of_parent? hparent) h
  | none =>
    rw [hparent] at h
    rw [rows_eq_preorderAll]
    exact Node.mem_preorderAll_of_mem h

end Forest

/-! ### Neighbours of a position -/

namespace Forest.WellFormed

variable {treeId : String} {f : Forest} {p : Position} {n : Node}

/-- Roots have no parent, and a child names the parent that it stands below. -/
theorem parent?_fill (h : f.WellFormed treeId) (hfill : f.roots = p.fill n) :
    f.parent? n = p.parent? n := by
  cases p with
  | root front back =>
    have hn := (h.root n (by simp [hfill, Position.fill])).2
    simp [parent?, hn, Position.parent?]
  | child front back parent up =>
    have hparent : Node.node parent (front ++ n :: back) ∈ f.rows :=
      Position.mem_rows_of_fill (p := up) hfill
    have hn := (h.child _ hparent n (by simp)).2
    simp [parent?, hn, h.found _ hparent, Position.parent?]

theorem siblings_fill (h : f.WellFormed treeId) (hfill : f.roots = p.fill n) :
    f.siblings n = p.front ++ n :: p.back := by
  rw [siblings, h.parent?_fill hfill]
  cases p with
  | root front back => exact hfill
  | child front back parent up => rfl

/-- No sibling in front of a node has its identity. -/
lemma key_ne_of_mem_front (h : f.WellFormed treeId) (hfill : f.roots = p.fill n) {m : Node}
    (hm : m ∈ p.front) : m.key ≠ n.key := by
  intro hkey
  have hnodup := h.nodup_tids
  rw [Position.rows_eq_of_fill hfill, List.append_assoc, List.map_append] at hnodup
  refine List.disjoint_of_nodup_append hnodup
    (List.mem_map_of_mem (Position.mem_before_of_mem_front hm)) ?_
  have htid : m.tid = n.tid := congrArg NodeKey.tid hkey
  simp [htid, preorder_eq]

theorem previous?_fill (h : f.WellFormed treeId) (hfill : f.roots = p.fill n) :
    f.previous? n = p.front.getLast? := by
  rw [previous?, h.siblings_fill hfill]
  exact nodeBefore_append fun m hm => h.key_ne_of_mem_front hfill hm

/-- The mark of the last sibling shows whether siblings follow. -/
lemma isLast_fill (h : f.WellFormed treeId) (hfill : f.roots = p.fill n) :
    n.row.isLast = p.back.isEmpty := by
  rw [Bool.eq_iff_iff, List.isEmpty_iff]
  cases p with
  | root front back => exact h.lastRoot front n back hfill
  | child front back parent up =>
    exact h.lastChild _ (Position.mem_rows_of_fill (p := up) hfill) front n back rfl

/-- The mark never disagrees with the search among the siblings. -/
theorem next?_fill (h : f.WellFormed treeId) (hfill : f.roots = p.fill n) :
    f.next? n = p.back.head? := by
  rw [next?, h.siblings_fill hfill,
    nodeAfter_append fun m hm => h.key_ne_of_mem_front hfill hm, h.isLast_fill hfill]
  cases p.back <;> rfl

/-- The level of a node is the depth of its position. -/
theorem level_fill (h : f.WellFormed treeId) (hfill : f.roots = p.fill n) :
    n.row.level = p.depth := by
  induction p generalizing n with
  | root front back => exact (h.root n (by simp [hfill, Position.fill])).1
  | child front back parent up ih =>
    have hparent := ih (n := .node parent (front ++ n :: back)) hfill
    have hn := (h.child _ (Position.mem_rows_of_fill (p := up) hfill) n (by simp)).1
    rw [hn, hparent, Position.depth]
    rfl

end Forest.WellFormed

end Sidebar
