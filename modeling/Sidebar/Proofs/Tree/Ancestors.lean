import Mathlib.Logic.Relation
import Sidebar.Proofs.Tree.Neighbours

/-!
# Ancestors

The ancestors of a row are found upwards, by the parent that each row names. What lies below a row
is found downwards, in the lists of children. In a well-formed forest both ways show the same: a row
is an ancestor of those that lie below it.

A row is shown when all its ancestors are open, so the shown rows are picked from all rows by what
lies above them.
-/

namespace Sidebar

open Node

namespace Node

/-! ### What lies below a node -/

lemma mem_preorderAll_of_mem_below {ns : List Node} {a n : Node} (ha : a ∈ preorderAll ns)
    (hn : n ∈ preorderAll a.children) : n ∈ preorderAll ns := by
  have hrows : ∀ m, m ∈ (Forest.mk 0 ns).rows ↔ m ∈ preorderAll ns := fun m => by
    rw [Forest.rows_eq_preorderAll]
  rw [← hrows] at ha ⊢
  refine Position.mem_rows_of_mem_preorder ha ?_
  rw [preorder_eq]
  exact List.mem_cons_of_mem a hn

/-- What lies below a child lies below its parent, and so does the child. -/
lemma mem_below_of_mem_children {a c n : Node} (hc : c ∈ a.children)
    (hn : n = c ∨ n ∈ preorderAll c.children) : n ∈ preorderAll a.children := by
  refine mem_preorderAll.mpr ⟨c, hc, ?_⟩
  rw [preorder_eq, List.mem_cons]
  exact hn

lemma preorderAll_singleton (n : Node) : preorderAll [n] = n.preorder := by
  rw [preorderAll, preorderAll, List.append_nil]

lemma nodup_preorder_of_mem {ns : List Node} {n : Node} (h : (preorderAll ns).Nodup)
    (hn : n ∈ ns) : n.preorder.Nodup := by
  obtain ⟨front, back, rfl⟩ := List.append_of_mem hn
  rw [preorderAll_append, preorderAll] at h
  exact (List.nodup_append.mp (List.nodup_append.mp h).2.1).1

/-! ### Shown rows are picked from all rows -/

/-- Among some trees, all nodes are open that a node lies below. -/
def OpenAbove (ns : List Node) (n : Node) : Prop :=
  ∀ a ∈ preorderAll ns, n ∈ preorderAll a.children → a.isOpen

instance (ns : List Node) (n : Node) : Decidable (OpenAbove ns n) :=
  inferInstanceAs (Decidable (∀ a ∈ preorderAll ns, n ∈ preorderAll a.children → a.isOpen))

section OpenAbove

variable {ns rest : List Node} {n m : Node}

/-- Nothing in one tree lies below a node of another one. -/
lemma openAbove_cons_of_mem_preorder (h : (preorderAll (n :: rest)).Nodup) (hm : m ∈ n.preorder) :
    OpenAbove (n :: rest) m ↔ OpenAbove [n] m := by
  rw [preorderAll, List.nodup_append] at h
  simp only [OpenAbove, preorderAll, List.append_nil, List.mem_append]
  refine ⟨fun hopen a ha => hopen a (Or.inl ha), fun hopen a ha hbelow => ?_⟩
  rcases ha with ha | ha
  · exact hopen a ha hbelow
  · exact absurd rfl (h.2.2 m hm m (mem_preorderAll_of_mem_below ha hbelow))

lemma openAbove_cons_of_mem_preorderAll (h : (preorderAll (n :: rest)).Nodup)
    (hm : m ∈ preorderAll rest) : OpenAbove (n :: rest) m ↔ OpenAbove rest m := by
  rw [preorderAll, List.nodup_append] at h
  simp only [OpenAbove, preorderAll, List.mem_append]
  refine ⟨fun hopen a ha => hopen a (Or.inr ha), fun hopen a ha hbelow => ?_⟩
  rcases ha with ha | ha
  · rw [← preorderAll_singleton] at ha h
    exact absurd rfl (h.2.2 m (mem_preorderAll_of_mem_below ha hbelow) m hm)
  · exact hopen a ha hbelow

/-- No node lies below itself, or below one that lies below it. -/
lemma openAbove_self (h : n.preorder.Nodup) : OpenAbove [n] n := by
  intro a ha hbelow
  rw [preorder_eq, List.nodup_cons] at h
  rw [preorderAll_singleton, preorder_eq, List.mem_cons] at ha
  rcases ha with rfl | ha
  · exact absurd hbelow h.1
  · exact absurd (mem_preorderAll_of_mem_below ha hbelow) h.1

/-- All is open above what lies below a node when the node is open, and all between them. -/
lemma openAbove_singleton_iff (hm : m ∈ preorderAll n.children) :
    OpenAbove [n] m ↔ n.isOpen ∧ OpenAbove n.children m := by
  simp only [OpenAbove, preorderAll_singleton, preorder_eq n, List.forall_mem_cons]
  exact and_congr_left fun _ => forall_prop_of_true hm

/-- The shown rows are those of all rows that lie below open nodes only. -/
lemma shownAll_eq_filter_of (hns : ∀ n ∈ ns, n.shown = n.preorder.filter (OpenAbove [n] ·))
    (h : (preorderAll ns).Nodup) : shownAll ns = (preorderAll ns).filter (OpenAbove ns ·) := by
  induction ns with
  | nil => rfl
  | cons n rest ih =>
    have hrest := (List.nodup_append.mp h).2.1
    rw [shownAll, preorderAll, List.filter_append, hns n List.mem_cons_self,
      ih (fun m hm => hns m (List.mem_cons_of_mem n hm)) hrest]
    congr 1
    · refine List.filter_congr fun m hm => ?_
      rw [decide_eq_decide, openAbove_cons_of_mem_preorder h hm]
    · refine List.filter_congr fun m hm => ?_
      rw [decide_eq_decide, openAbove_cons_of_mem_preorderAll h hm]

lemma shown_eq_filter (h : n.preorder.Nodup) : n.shown = n.preorder.filter (OpenAbove [n] ·) := by
  induction n with
  | node row children ih =>
    have hself := openAbove_self h
    rw [preorder, List.nodup_cons] at h
    have hall := shownAll_eq_filter_of (fun c hc => ih c hc (nodup_preorder_of_mem h.2 hc)) h.2
    rw [shown, preorder, List.filter_cons_of_pos (by simpa using hself)]
    refine congrArg (Node.node row children :: ·) ?_
    cases hopen : row.isOpen with
    | true =>
      rw [if_pos rfl, hall]
      refine List.filter_congr fun m hm => ?_
      rw [decide_eq_decide, openAbove_singleton_iff (n := .node row children) hm]
      simp [isOpen, hopen]
    | false =>
      rw [if_neg Bool.false_ne_true]
      refine (List.filter_eq_nil_iff.mpr fun m hm => ?_).symm
      rw [decide_eq_true_iff, openAbove_singleton_iff (n := .node row children) hm]
      simp [isOpen, hopen]

theorem shownAll_eq_filter (h : (preorderAll ns).Nodup) :
    shownAll ns = (preorderAll ns).filter (OpenAbove ns ·) :=
  shownAll_eq_filter_of (fun _ hn => shown_eq_filter (nodup_preorder_of_mem h hn)) h

end OpenAbove

end Node

/-! ### Ancestors -/

namespace Forest

/-- The first node is met on the way up from the second one, along the parents that rows name. -/
def Ancestor (f : Forest) (a n : Node) : Prop :=
  Relation.TransGen (fun m parent => f.parent? m = some parent) n a

variable {treeId : String} {f : Forest} {a n m : Node}

/-- The parent that a row names is the one whose children list has the row. -/
lemma WellFormed.parent?_eq_some_iff (h : f.WellFormed treeId) (hn : n ∈ f.rows) :
    f.parent? n = some a ↔ a ∈ f.rows ∧ n ∈ a.children := by
  constructor
  · intro hparent
    obtain ⟨p, hfill⟩ := Position.exists_fill_of_mem_rows hn
    rw [h.parent?_fill hfill] at hparent
    cases p with
    | root front back => cases hparent
    | child front back parent up =>
      obtain rfl := Option.some.inj hparent
      exact ⟨Position.mem_rows_of_fill (p := up) hfill, by simp⟩
  · rintro ⟨ha, hchild⟩
    rw [parent?, (h.child a ha n hchild).2, Option.bind_some, h.found a ha]

/-- The ancestors of a row are the rows that it lies below. -/
theorem WellFormed.ancestor_iff (h : f.WellFormed treeId) (hn : n ∈ f.rows) :
    f.Ancestor a n ↔ a ∈ f.rows ∧ n ∈ preorderAll a.children := by
  constructor
  · intro hup
    induction hup with
    | single hparent =>
      obtain ⟨ha, hchild⟩ := (h.parent?_eq_some_iff hn).mp hparent
      exact ⟨ha, mem_below_of_mem_children hchild (Or.inl rfl)⟩
    | tail _ hparent ih =>
      obtain ⟨ha, hchild⟩ := (h.parent?_eq_some_iff ih.1).mp hparent
      exact ⟨ha, mem_below_of_mem_children hchild (Or.inr ih.2)⟩
  · rintro ⟨ha, hbelow⟩
    induction a with
    | node row children ih =>
      obtain ⟨c, hc, hmem⟩ := mem_preorderAll.mp hbelow
      have hrow : c ∈ f.rows := Position.mem_rows_of_mem_children ha hc
      have hparent : f.parent? c = some (.node row children) :=
        (h.parent?_eq_some_iff hrow).mpr ⟨ha, hc⟩
      rw [preorder_eq, List.mem_cons] at hmem
      rcases hmem with rfl | hmem
      · exact .single hparent
      · exact .tail (ih c hc hrow hmem) hparent

/-- The nearest ancestor is the parent. -/
lemma ancestor_iff_of_parent? (hparent : f.parent? n = some m) :
    f.Ancestor a n ↔ a = m ∨ f.Ancestor a m := by
  rw [Ancestor, Relation.TransGen.head'_iff]
  constructor
  · rintro ⟨m', hm', hup⟩
    obtain rfl : m' = m := Option.some.inj (hm'.symm.trans hparent)
    exact Relation.reflTransGen_iff_eq_or_transGen.mp hup
  · intro hup
    exact ⟨m, hparent, Relation.reflTransGen_iff_eq_or_transGen.mpr hup⟩

lemma not_ancestor_of_parent? (hparent : f.parent? n = none) : ¬ f.Ancestor a n := by
  intro hup
  obtain ⟨m, hm, -⟩ := Relation.TransGen.head'_iff.mp hup
  cases hparent.symm.trans hm

/-- The visible rows are those of all rows whose ancestors are open. -/
theorem WellFormed.visibleRows_eq_filter (h : f.WellFormed treeId) :
    f.visibleRows = f.rows.filter (OpenAbove f.roots ·) := by
  rw [visibleRows_eq_shownAll, rows_eq_preorderAll]
  exact shownAll_eq_filter (f.rows_eq_preorderAll ▸ h.nodup_rows)

lemma WellFormed.nodup_preorder (h : f.WellFormed treeId) (hn : n ∈ f.rows) :
    n.preorder.Nodup := by
  obtain ⟨p, hfill⟩ := Position.exists_fill_of_mem_rows hn
  have hnodup := h.nodup_rows
  rw [Position.rows_eq_of_fill hfill] at hnodup
  exact (List.nodup_append.mp (List.nodup_append.mp hnodup).1).2.1

lemma WellFormed.nodup_below (h : f.WellFormed treeId) (hn : n ∈ f.rows) :
    (preorderAll n.children).Nodup := by
  have hnodup := h.nodup_preorder hn
  rw [preorder_eq] at hnodup
  exact (List.nodup_cons.mp hnodup).2

/-- No id is listed twice among the visible rows. -/
lemma WellFormed.nodup_visibleTids (h : f.WellFormed treeId) :
    (f.visibleRows.map Node.tid).Nodup := by
  rw [h.visibleRows_eq_filter]
  exact (List.filter_sublist.map Node.tid).nodup h.nodup_tids

lemma WellFormed.openAbove_iff (h : f.WellFormed treeId) (hn : n ∈ f.rows) :
    OpenAbove f.roots n ↔ ∀ a, f.Ancestor a n → a.isOpen := by
  simp only [OpenAbove, ← f.rows_eq_preorderAll, h.ancestor_iff hn, and_imp]

end Forest

end Sidebar
