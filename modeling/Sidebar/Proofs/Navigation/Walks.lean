import Sidebar.Navigation
import Sidebar.Proofs.Tree.Neighbours

/-!
# Walks

What each walk of the navigator finds in a well-formed forest, said by the position it starts from:
the climb finds the first row behind the subtree of the parent, the descent the last row shown below
a node, and the look at last siblings whether anything is shown behind the position. A walk up needs
no more moves than the position is deep, and a walk down no more than the levels below the node.
-/

namespace Sidebar

open Node

namespace Position

/-- The position whose subtree is passed over by the step to the next row: that of the parent, or
that of a root itself. -/
def outer : Position → Position
  | .root front back => .root front back
  | .child _ _ _ up => up

/-- Whether nothing is shown behind the position: it is the last among its siblings, and so are all
ancestors, which are open. -/
def isLowest : Position → Bool
  | .root _ back => back.isEmpty
  | .child _ back parent up => back.isEmpty && parent.isOpen && up.isLowest

lemma isShown_of_isLowest {p : Position} (hp : p.isLowest) : p.isShown := by
  induction p with
  | root front back => rfl
  | child front back parent up ih =>
    simp only [isLowest, Bool.and_eq_true] at hp
    simp [isShown, hp.1.2, ih hp.2]

lemma isLowest_iff {p : Position} (hp : p.isShown) : p.isLowest ↔ p.behind shownAll = [] := by
  have hnil : ∀ ns, shownAll ns = [] ↔ ns = [] := by
    intro ns
    rw [← List.head?_eq_none_iff, head?_shownAll, List.head?_eq_none_iff]
  induction p with
  | root front back => simp [isLowest, behind, hnil]
  | child front back parent up ih =>
    obtain ⟨hopen, hup⟩ := (Bool.and_eq_true _ _).mp hp
    simp [isLowest, behind, hnil, hopen, ih hup]

end Position

namespace Navigator

variable {treeId : String} {f : Forest} {p : Position} {n : Node} {overrun : NavigationError}

/-! ### Up the parents -/

theorem climb_fill (h : f.WellFormed treeId) {front back : List Node} {parent : Row}
    {up : Position} (hfill : f.roots = (Position.child front back parent up).fill n) {moves : Nat}
    (hmoves : up.depth < moves) :
    climb f overrun moves n = .ok (up.behind preorderAll).head? := by
  induction up generalizing front back parent n moves with
  | root front' back' =>
    have hparent := h.parent?_fill hfill
    have hnext := h.next?_fill (p := .root front' back') hfill
    have hlevel := h.level_fill (p := .root front' back') hfill
    obtain ⟨moves, rfl⟩ := Nat.exists_eq_succ_of_ne_zero (Nat.ne_of_gt hmoves)
    rw [climb, hparent, Position.behind, Position.head?_preorderAll]
    cases back' <;> simp_all [Position.back, Position.parent?, Position.depth]
  | child front' back' parent' up ih =>
    have hparent := h.parent?_fill hfill
    have hnext := h.next?_fill (p := .child front' back' parent' up) hfill
    have hlevel := h.level_fill (p := .child front' back' parent' up) hfill
    obtain ⟨moves, rfl⟩ := Nat.exists_eq_succ_of_ne_zero (Nat.ne_of_gt (Nat.zero_lt_of_lt hmoves))
    rw [Position.depth] at hmoves hlevel
    rw [climb, hparent, Position.behind, List.head?_append, Position.head?_preorderAll]
    cases back' with
    | nil =>
      have hclimb := ih hfill (Nat.lt_of_succ_lt_succ hmoves)
      have hdeep : (up.depth : Int) + 1 ≠ 0 := by omega
      simp_all [Position.back, Position.parent?]
    | cons m back' => simp_all [Position.back, Position.parent?]

theorem isLastShown_fill (h : f.WellFormed treeId) (hfill : f.roots = p.fill n) {moves : Nat}
    (hmoves : p.depth ≤ moves) : isLastShown f overrun moves n = .ok p.isLowest := by
  induction p generalizing n moves with
  | root front back =>
    have hparent := h.parent?_fill hfill
    have hlast := h.isLast_fill hfill
    rw [isLastShown.eq_def]
    simp only [hparent, hlast, Position.parent?, Position.back, Position.isLowest]
    cases back <;> rfl
  | child front back parent up ih =>
    have hparent := h.parent?_fill hfill
    have hlast := h.isLast_fill hfill
    obtain ⟨moves, rfl⟩ := Nat.exists_eq_succ_of_ne_zero (Nat.ne_of_gt (Nat.zero_lt_of_lt hmoves))
    have hup := ih hfill (Nat.le_of_succ_le_succ hmoves)
    rw [isLastShown.eq_def]
    simp only [hparent, hlast, Position.parent?, Position.back, Position.isLowest, Node.isOpen,
      row_node, hup]
    cases back <;> cases parent.isOpen <;> rfl

/-! ### Down the last children -/

/-- The last row of siblings is the last one shown in the last of them. -/
lemma getLast?_shownAll (front : List Node) (n : Node) :
    (shownAll (front ++ [n])).getLast? = n.shown.getLast? := by
  rw [shownAll_append, shownAll, shownAll, List.append_nil, List.getLast?_append, shown_eq n]
  simp [List.getLast?_cons]

/-- The descent needs a move for each level below the node. -/
theorem descend_eq (h : f.WellFormed treeId) (hn : n ∈ f.rows) {moves : Nat}
    (hmoves : ∀ m ∈ n.preorder, m.row.level ≤ n.row.level + moves) :
    ∃ m, n.shown.getLast? = some m ∧ descend overrun moves n = .ok m := by
  induction n generalizing moves with
  | node row children ih =>
    rw [descend.eq_def]
    cases hlast : (Node.node row children).shownChildren.getLast? with
    | none =>
      have hnone := List.getLast?_eq_none_iff.mp hlast
      refine ⟨.node row children, ?_, by simp only [hlast]⟩
      rw [shown_eq, hnone]
      rfl
    | some child =>
      obtain ⟨front, hfront⟩ := List.getLast?_eq_some_iff.mp hlast
      have hchild : child ∈ children :=
        mem_children_of_mem_shownChildren (n := .node row children) (by simp [hfront])
      have hlevel := (h.child _ hn child hchild).1
      have hsub : ∀ m ∈ child.preorder, m ∈ (Node.node row children).preorder := by
        intro m hm
        rw [preorder_eq]
        exact List.mem_cons_of_mem _ (mem_preorderAll.mpr ⟨child, hchild, hm⟩)
      have hpos := hmoves child (hsub child (by simp [preorder_eq]))
      cases moves with
      | zero => omega
      | succ moves =>
        have hrow := Position.mem_rows_of_mem_children hn hchild
        have hchild_moves : ∀ m ∈ child.preorder, m.row.level ≤ child.row.level + moves := by
          intro m hm
          have := hmoves m (hsub m hm)
          omega
        obtain ⟨m, hm, hdescend⟩ := ih child hchild hrow hchild_moves
        refine ⟨m, ?_, by simp only [hlast, hdescend]⟩
        rw [shown_eq, hfront, List.getLast?_cons, getLast?_shownAll, hm]
        rfl

/-! ### Questions to the navigator -/

section Questions

variable {bound : Int}

lemma requireMember_eq (h : f.WellFormed treeId) (hn : n ∈ f.rows) :
    requireMember ⟨f, bound⟩ n = .ok () := by
  rw [requireMember, if_pos (h.contains_of_mem_rows hn)]

/-- With a bound on the levels, the position of a row is no deeper than the bound. -/
lemma depth_le_toNat (h : f.WellFormed treeId) (hbound : ∀ n ∈ f.rows, n.row.level ≤ bound)
    (hfill : f.roots = p.fill n) : p.depth ≤ bound.toNat := by
  have hlevel := h.level_fill hfill
  have := hbound n (Position.mem_rows_of_fill hfill)
  omega

/-- The last visible row inside a node is the last row that its children show. -/
theorem lastVisible_eq (h : f.WellFormed treeId) (hbound : ∀ n ∈ f.rows, n.row.level ≤ bound)
    (hn : n ∈ f.rows) (hchildren : n.children ≠ []) :
    ∃ m, (shownAll n.children).getLast? = some m ∧ lastVisible ⟨f, bound⟩ n = .ok m := by
  obtain ⟨front, child, hfront⟩ := (List.eq_nil_or_concat' n.children).resolve_left hchildren
  have hchild : child ∈ n.children := by simp [hfront]
  obtain ⟨p, hfill⟩ := Position.exists_fill_of_mem_rows hn
  have hdepth := h.level_fill hfill
  have hlevel := (h.child n hn child hchild).1
  have hrow := Position.mem_rows_of_mem_children hn hchild
  have hmoves : ∀ m ∈ child.preorder, m.row.level ≤ child.row.level + (bound - 1).toNat := by
    intro m hm
    have := hbound m (Position.mem_rows_of_mem_preorder hrow hm)
    omega
  obtain ⟨m, hm, hdescend⟩ := descend_eq h hrow hmoves
  refine ⟨m, by rw [hfront, getLast?_shownAll, hm], ?_⟩
  rw [lastVisible, requireMember_eq h hn, hfront, List.getLast?_concat]
  exact hdescend

/-- The row behind the subtree of a root, or of the parent of any other node. -/
theorem nextVisible_fill (h : f.WellFormed treeId) (hbound : ∀ n ∈ f.rows, n.row.level ≤ bound)
    (hfill : f.roots = p.fill n) :
    nextVisible ⟨f, bound⟩ n = .ok (p.outer.behind preorderAll).head? := by
  have hlevel := h.level_fill hfill
  have hdepth := depth_le_toNat h hbound hfill
  rw [nextVisible, requireMember_eq h (Position.mem_rows_of_fill hfill)]
  cases p with
  | root front back =>
    have hzero : n.row.level = 0 := by simpa [Position.depth] using hlevel
    have hnext := h.next?_fill hfill
    rw [Position.outer, Position.behind, Position.head?_preorderAll]
    simp only [hzero, if_true, hnext]
    rfl
  | child front back parent up =>
    rw [Position.depth] at hlevel hdepth
    have hdeep : n.row.level ≠ 0 := by omega
    simp only [hdeep, if_false]
    exact climb_fill h hfill hdepth

/-- A row is the bottom one if it is closed and nothing is shown behind its position. -/
theorem isBottom_fill (h : f.WellFormed treeId) (hbound : ∀ n ∈ f.rows, n.row.level ≤ bound)
    (hfill : f.roots = p.fill n) :
    isBottom ⟨f, bound⟩ n = .ok (!n.isOpen && p.isLowest) := by
  have hdepth := depth_le_toNat h hbound hfill
  rw [isBottom, requireMember_eq h (Position.mem_rows_of_fill hfill)]
  cases hopen : n.isOpen with
  | true => rfl
  | false =>
    simp only [Bool.not_false, Bool.true_and]
    exact isLastShown_fill h hfill hdepth

end Questions

end Navigator

end Sidebar
